import CommentSieve.Proofs.FailSafe
import CommentSieve.Proofs.Outline
import CommentSieve.Proofs.Reports

/-!
# Comments between tags

A tokenizer knows nothing of tags. The slash of a closing tag stands right after an angle
bracket, which is an operator, so that it opens a regular expression. The literal is closed
by the slash of the next closing tag on the line, or it ends with the line and is found to
be unfinished. Whatever lies between is part of it, comments too.

So it is the number of closing tags before a comment on its line that counts: after an even
number of them a comment is found, after an odd number it is not.

Main results:

* `Markup.outcome_source` — what is left of a text of tags, comments and prose, and on which
  lines something is found.
* `Remover.process_markup` — a remover drops the comments after an even number of closing
  tags, and reports the lines with an odd number of them.
-/

namespace CommentSieve

open Text Fallback

/-! ## Texts of tags, comments and prose -/

namespace Markup

/-- The name of a tag. -/
structure Name where
  chars : List Char
  ne_nil : chars ≠ []
  isAlpha : ∀ c ∈ chars, c.isAlpha = true

/-- Text between tags. -/
structure Prose where
  chars : List Char
  allowed : ∀ c ∈ chars, c.isAlpha = true ∨ c = ' ' ∨ c = '\n'

/-- The inside of a comment. -/
structure Remark where
  chars : List Char
  allowed : ∀ c ∈ chars, c.isAlpha = true ∨ c = ' '

/-- What a text is made of. -/
inductive Item
  | opening (name : Name)
  | closing (name : Name)
  | prose (text : Prose)
  | comment (remark : Remark)

namespace Item

/-- The characters of an item. -/
def chars : Item → List Char
  | opening name => '<' :: (name.chars ++ ['>'])
  | closing name => '<' :: '/' :: (name.chars ++ ['>'])
  | prose text => text.chars
  | comment remark => '<' :: '!' :: '-' :: '-' :: (remark.chars ++ ['-', '-', '>'])

/-- Whether an item is a comment. -/
def isComment : Item → Bool
  | comment _ => true
  | opening _ | closing _ | prose _ => false

/-- Whether a line ends in an item. -/
def endsLine : Item → Bool
  | prose text => text.chars.contains '\n'
  | opening _ | closing _ | comment _ => false

/-- The number of closing tags on the line after an item, if there were `count` before it. -/
def closings (count : Nat) (item : Item) : Nat :=
  match item with
  | closing _ => count + 1
  | prose _ => if item.endsLine then 0 else count
  | opening _ | comment _ => count

end Item

/-- The text that some items make. -/
def source (items : List Item) : List Char := items.flatMap (·.chars)

/-- The items without the comments after an even number of closing tags on their line, if
there are `count` of these before the first item. -/
def left : (count : Nat) → List Item → List Item
  | _, [] => []
  | count, item :: items =>
    if item.isComment ∧ count % 2 = 0 then left (item.closings count) items
    else item :: left (item.closings count) items

/-- The number of lines with an odd number of closing tags, if there are `count` of these
before the first item. -/
def oddLines : (count : Nat) → List Item → Nat
  | count, [] => count % 2
  | count, item :: items =>
    (if item.endsLine then count % 2 else 0) + oddLines (item.closings count) items

/-- The numbers of these lines, if the first item is on line `line`. -/
def oddLineNumbers : (line count : Nat) → List Item → List Nat
  | line, count, [] => if count % 2 = 1 then [line] else []
  | line, count, item :: items =>
    (if item.endsLine ∧ count % 2 = 1 then [line] else []) ++
      oddLineNumbers (line + item.chars.count '\n') (item.closings count) items

/-- There is one number for each of the lines. -/
theorem length_oddLineNumbers (line count : Nat) (items : List Item) :
    (oddLineNumbers line count items).length = oddLines count items := by
  induction items generalizing line count with
  | nil => rcases Nat.mod_two_eq_zero_or_one count with h | h <;> simp [oddLineNumbers, oddLines, h]
  | cons item items ih =>
    rw [oddLineNumbers, oddLines, List.length_append, ih]
    rcases Nat.mod_two_eq_zero_or_one count with h | h <;> cases item.endsLine <;> simp [h]

/-- The characters of the items, item by item. -/
theorem source_cons (item : Item) (items : List Item) :
    source (item :: items) = item.chars ++ source items := List.flatMap_cons

/-! ## The characters of items -/

/-- A letter is none of the signs. -/
theorem ne_of_isAlpha {c : Char} (h : c.isAlpha = true) (others : List Char)
    (hOthers : others.all (fun d => !d.isAlpha) = true) : ∀ d ∈ others, c ≠ d := by
  rintro d hd rfl
  have hOther := List.all_eq_true.mp hOthers c hd
  simp [h] at hOther

theorem isPlainChar_of_isAlpha {c : Char} (h : c.isAlpha = true) : Scan.isPlainChar c = true := by
  have hNe := ne_of_isAlpha h ['\'', '"', '`', '/', '<'] (by decide)
  simp only [List.forall_mem_cons] at hNe
  simp [Scan.isPlainChar, Scan.isQuote, hNe]

/-- The characters that may stand in a regular expression between two closing tags. -/
def isInside (c : Char) : Bool := RegexLiteral.isBodyChar c && c != '*'

theorem isInside_of_isAlpha {c : Char} (h : c.isAlpha = true) : isInside c = true := by
  have hNe := ne_of_isAlpha h ['\\', '[', '/', '\n', '*'] (by decide)
  simp only [List.forall_mem_cons] at hNe
  simp [isInside, RegexLiteral.isBodyChar, hNe]

/-- Prose is code that means nothing. -/
theorem isPlainChar_prose (text : Prose) : ∀ c ∈ text.chars, Scan.isPlainChar c = true := by
  intro c hc
  rcases text.allowed c hc with hLetter | rfl | rfl
  · exact isPlainChar_of_isAlpha hLetter
  · decide
  · decide

/-- An opening tag after its bracket, and a closing tag after its slash. -/
theorem isPlainChar_name (name : Name) : ∀ c ∈ name.chars ++ ['>'], Scan.isPlainChar c = true := by
  intro c hc
  rcases List.mem_append.mp hc with hc | hc
  · exact isPlainChar_of_isAlpha (name.isAlpha c hc)
  · obtain rfl := List.mem_singleton.mp hc
    decide

/-- The rest of a tag can stand in a regular expression. -/
theorem isInside_name (name : Name) : ∀ c ∈ name.chars ++ ['>'], isInside c = true := by
  intro c hc
  rcases List.mem_append.mp hc with hc | hc
  · exact isInside_of_isAlpha (name.isAlpha c hc)
  · obtain rfl := List.mem_singleton.mp hc
    decide

/-- Without a line end, all items but closing tags can stand in a regular expression. -/
theorem isInside_chars {item : Item} (hLine : item.endsLine = false)
    (hClosing : ∀ name, item ≠ .closing name) : ∀ c ∈ item.chars, isInside c = true := by
  intro c hc
  cases item with
  | opening name =>
    rcases List.mem_cons.mp hc with rfl | hc
    · decide
    · exact isInside_name name c hc
  | closing name => exact absurd rfl (hClosing name)
  | prose text =>
    rcases text.allowed c hc with hLetter | rfl | rfl
    · exact isInside_of_isAlpha hLetter
    · decide
    · -- The third character is the end of a line, which the item does not have.
      exact absurd hc (by simpa [Item.endsLine, Item.chars] using hLine)
  | comment remark =>
    have hMarks : ∀ c ∈ ['<', '!', '-', '-', '>'], isInside c = true :=
      List.all_eq_true.mp (by decide)
    simp only [Item.chars, List.mem_cons, List.mem_append] at hc hMarks
    have hRemark : c ∈ remark.chars → isInside c = true := by
      intro hc
      rcases remark.allowed c hc with hLetter | rfl
      · exact isInside_of_isAlpha hLetter
      · decide
    grind

/-- No line ends there. -/
theorem count_of_isInside {w : List Char} (h : ∀ c ∈ w, isInside c = true) : w.count '\n' = 0 :=
  List.count_eq_zero.mpr fun hLine => absurd (h '\n' hLine) (by decide)

/-- What has been read of a literal after the slash of a closing tag: it goes on with the name
of the tag, so that it is not empty. -/
structure IsInner (inner : List Char) : Prop where
  ne_nil : inner ≠ []
  isInside : ∀ c ∈ inner, isInside c = true

namespace IsInner

variable {inner : List Char}

theorem name (name : Name) : IsInner (name.chars ++ ['>']) :=
  ⟨List.concat_ne_nil _ _, isInside_name name⟩

/-- More of the same can follow. -/
theorem append (h : IsInner inner) {more : List Char}
    (hMore : ∀ c ∈ more, Markup.isInside c = true) :
    IsInner (inner ++ more) := by
  refine ⟨List.append_ne_nil_of_left_ne_nil h.ne_nil more, fun c hc => ?_⟩
  rcases List.mem_append.mp hc with hc | hc
  · exact h.isInside c hc
  · exact hMore c hc

theorem isBodyChar (h : IsInner inner) : ∀ c ∈ inner, RegexLiteral.isBodyChar c = true :=
  fun c hc => (Bool.and_eq_true_iff.mp (h.isInside c hc)).1

/-- No comment opens at the slash before it. -/
theorem opensComment (h : IsInner inner) (rest : List Char) :
    Scan.opensComment ('/' :: (inner ++ rest)) = false := by
  obtain ⟨c, more, rfl⟩ := List.exists_cons_of_ne_nil h.ne_nil
  have hFirst := h.isInside c (List.mem_cons_self ..)
  simp only [Markup.isInside, RegexLiteral.isBodyChar, Bool.and_eq_true, bne_iff_ne] at hFirst
  obtain ⟨⟨⟨-, hSlash⟩, -⟩, hStar⟩ := hFirst
  rw [Scan.opensComment_slash]
  simp [hSlash, hStar]

end IsInner

/-! ## Where reading stands -/

/-- Where reading stands in a text: what has been read of it, last character first, how many
bytes that is, what is left, and on which line that starts. -/
structure Reached (text before : List Char) (offset : Nat) (rest : List Char) (line : Nat) :
    Prop where
  append : before.reverse ++ rest = text
  offset_eq : byteLength before = offset
  line_eq : (Location.reading before.reverse).line = line

namespace Reached

variable {text before rest : List Char} {offset line : Nat}

/-- At the start of a text nothing has been read. -/
theorem start (text : List Char) : Reached text [] 0 text 1 := ⟨rfl, rfl, rfl⟩

/-- Where reading stands after a part of what was left. -/
theorem pass (front : List Char) (h : Reached text before offset (front ++ rest) line) :
    Reached text (front.reverse ++ before) (offset + byteLength front) rest
      (line + front.count '\n') := by
  obtain ⟨hAppend, hOffset, hLine⟩ := h
  have hBefore : (front.reverse ++ before).reverse = before.reverse ++ front := by simp
  refine ⟨?_, ?_, ?_⟩
  · rw [hBefore, List.append_assoc, hAppend]
  · rw [byteLength_append, byteLength_reverse, hOffset, Nat.add_comm]
  · rw [hBefore, Location.line_reading_append, hLine]

/-- The line is the one that is found by reading the text from its start. -/
theorem line_locate (h : Reached text before offset rest line) :
    (locate text offset).line = line := by
  obtain ⟨hAppend, hOffset, hLine⟩ := h
  rw [← hAppend, ← hOffset, ← byteLength_reverse, locate_append, hLine]

end Reached

/-! ## What comes of a text -/

/-- The outline of some items of a text, from line `line` on and after `count` closing tags on
it, if `front` comes before them. -/
structure Outcome (text front : List Char) (line count : Nat) (items : List Item)
    (outline : Outline) : Prop where
  content : outline.left.content = front ++ source (left count items)
  removed : (left count items).length + outline.left.removed = items.length
  findings : ∃ offsets : List Nat, outline.findings = offsets.map (.malformed .regex) ∧
    offsets.map (fun offset => (locate text offset).line) = oddLineNumbers line count items

namespace Outcome

variable {text front : List Char} {line count : Nat} {item : Item} {items : List Item}
  {outline : Outline}

/-- Text that is left, before what is in front of the items. -/
theorem plain (h : Outcome text front line count items outline) (more : List Char) :
    Outcome text (more ++ front) line count items ((Outline.plain more).followedBy outline) := by
  obtain ⟨hContent, hRemoved, hFindings⟩ := h
  refine ⟨?_, ?_, hFindings⟩
  · rw [List.append_assoc, ← hContent]
    rfl
  · rw [← hRemoved]
    simp [Outline.followedBy, Outline.plain, copied, Stripped.followedBy]

/-- Text that is left, right before the items. -/
theorem code (h : Outcome text [] line count items outline) (more : List Char) :
    Outcome text more line count items ((Outline.plain more).followedBy outline) := by
  simpa using h.plain more

/-- An item that is left, and that ends no line with a literal in it. -/
theorem cons_kept (hKept : ¬ (item.isComment ∧ count % 2 = 0))
    (hLine : item.endsLine = true → count % 2 = 0)
    (h : Outcome text (front ++ item.chars) (line + item.chars.count '\n') (item.closings count)
      items outline) :
    Outcome text front line count (item :: items) outline := by
  obtain ⟨hContent, hRemoved, offsets, hFindings, hLines⟩ := h
  have hLeft : left count (item :: items) = item :: left (item.closings count) items := by
    rw [left, if_neg hKept]
  have hNone : ¬ (item.endsLine ∧ count % 2 = 1) := by
    rintro ⟨hEnds, hOdd⟩
    rw [hLine hEnds] at hOdd
    cases hOdd
  refine ⟨?_, ?_, offsets, hFindings, ?_⟩
  · -- what is in front of the item and the item are in front of the others
    rw [hLeft, source_cons, ← List.append_assoc]
    exact hContent
  · rw [hLeft, List.length_cons, List.length_cons]
    omega
  · rw [oddLineNumbers, if_neg hNone, List.nil_append, hLines]

/-- A comment that is dropped. -/
theorem cons_dropped {dropped : List Char} (hComment : item.isComment = true)
    (hCount : count % 2 = 0)
    (h : Outcome text [] (line + item.chars.count '\n') (item.closings count) items outline) :
    Outcome text [] line count (item :: items)
      ((⟨judged dropped true false, []⟩ : Outline).followedBy outline) := by
  obtain ⟨hContent, hRemoved, offsets, hFindings, hLines⟩ := h
  have hLeft : left count (item :: items) = left (item.closings count) items := by
    rw [left, if_pos ⟨hComment, hCount⟩]
  refine ⟨?_, ?_, offsets, hFindings, ?_⟩
  · rw [hLeft, ← hContent]
    rfl
  · have hOne : ((⟨judged dropped true false, []⟩ : Outline).followedBy outline).left.removed =
        1 + outline.left.removed := rfl
    rw [hLeft, hOne, List.length_cons]
    omega
  · rw [oddLineNumbers, if_neg (by omega), List.nil_append, hLines]

/-- A literal that the text breaks off. -/
theorem nil_broken (hCount : count % 2 = 1) {offset : Nat}
    (hLine : (locate text offset).line = line) :
    Outcome text front line count []
      ((⟨copied front, [.malformed .regex offset]⟩ : Outline).followedBy (.plain [])) where
  content := rfl
  removed := rfl
  findings := ⟨[offset], rfl, by simp [oddLineNumbers, hCount, hLine]⟩

/-- A literal that a line end in an item breaks off, with the text `more` after it. -/
theorem cons_broken {broken more : List Char} (hEnds : item.endsLine = true)
    (hCount : count % 2 = 1) (hText : front ++ item.chars = broken ++ more) {offset : Nat}
    (hLine : (locate text offset).line = line)
    (h : Outcome text more (line + item.chars.count '\n') 0 items outline) :
    Outcome text front line count (item :: items)
      ((⟨copied broken, [.malformed .regex offset]⟩ : Outline).followedBy outline) := by
  obtain ⟨hContent, hRemoved, offsets, hFindings, hLines⟩ := h
  cases item with
  | opening | closing | comment => exact absurd hEnds Bool.false_ne_true
  | prose prose =>
    -- the line end leaves no closing tags behind
    have hNone : (Item.prose prose).closings count = 0 := if_pos hEnds
    have hLeft : left count (.prose prose :: items) = .prose prose :: left 0 items := by
      rw [left, if_neg (fun h => Bool.false_ne_true h.1), hNone]
    refine ⟨?_, ?_, offset :: offsets, ?_, ?_⟩
    · rw [hLeft, source_cons, ← List.append_assoc, hText, List.append_assoc, ← hContent]
      rfl
    · have hSame : ((⟨copied broken, [.malformed .regex offset]⟩ : Outline).followedBy
          outline).left.removed = 0 + outline.left.removed := rfl
      rw [hLeft, hSame, List.length_cons, List.length_cons]
      omega
    · rw [List.map_cons, ← hFindings]
      rfl
    · rw [oddLineNumbers, if_pos ⟨hEnds, hCount⟩, hNone, List.map_cons, hLine, hLines,
        List.singleton_append]

end Outcome

/-! ## Reading items -/

section Read

variable {e : Engine} {o : Options}

/-- What comes of some items where code is read: after an even number of closing tags. -/
def ReadInCode (e : Engine) (o : Options) (items : List Item) : Prop :=
  ∀ text line count before offset, count % 2 = 0 →
    Reached text before offset (source items) line →
      Outcome text [] line count items (Scan.outlineFrom e o before offset (source items))

/-- What comes of some items where a regular expression is read: after an odd number of
closing tags, of which the last opened the literal with its slash. -/
def ReadInLiteral (e : Engine) (o : Options) (items : List Item) : Prop :=
  ∀ text line count before offset inner, count % 2 = 1 → IsInner inner →
    Reached text ('<' :: before) offset ('/' :: (inner ++ source items)) line →
      Outcome text ('/' :: inner) line count items
        (Scan.outlineFrom e o ('<' :: before) offset ('/' :: (inner ++ source items)))

theorem opensAfter_angle (limit : Nat) (before : List Char) :
    RegexLiteral.opensAfter limit ('<' :: before) = true := by
  cases limit <;> rfl

/-- A comment ends at its own terminator. -/
theorem splitAround?_remark (remark : Remark) (rest : List Char) :
    splitAround? Comment.Style.html.terminator
      (remark.chars ++ (Comment.Style.html.terminator ++ rest)) = some (remark.chars, rest) := by
  obtain ⟨chars, hChars⟩ := remark
  dsimp only
  induction chars with
  | nil => exact splitAround?_of_some (stripStart?_append _ rest)
  | cons c chars ih =>
    obtain ⟨hFirst, hOthers⟩ := List.forall_mem_cons.mp hChars
    have hDash : c ≠ '-' := by
      rintro rfl
      revert hFirst
      decide
    have hNone : stripStart? Comment.Style.html.terminator
        (c :: (chars ++ (Comment.Style.html.terminator ++ rest))) = none := by
      simp [stripStart?, Comment.Style.terminator, hDash.symm]
    rw [List.cons_append, splitAround?_cons_of_none hNone, ih hOthers]
    rfl

/-- The bracket of a tag is code. -/
theorem outlineFrom_angle {before cs : List Char} (offset : Nat) (h : cs.head? ≠ some '!') :
    Scan.outlineFrom e o before offset ('<' :: cs) =
      (Outline.plain ['<']).followedBy
        (Scan.outlineFrom e o ('<' :: before) (offset + '<'.utf8Size) cs) :=
  Scan.outlineFrom_code e offset (by decide) (Scan.opensComment_angle h)
    fun h => absurd h (by decide)

/-- Where code is read, a closing tag opens a literal, and a comment is found. -/
theorem readInCode_cons (hDrops : ∀ text, e.keeps text = false) {item : Item} {items : List Item}
    (hCode : ReadInCode e o items) (hLiteral : ReadInLiteral e o items) :
    ReadInCode e o (item :: items) := by
  intro text line count before offset hCount hReached
  have hEven : item.endsLine = true → count % 2 = 0 := fun _ => hCount
  rw [source_cons] at hReached ⊢
  have hPassed := hReached.pass _
  cases item with
  | opening name =>
    refine .cons_kept (fun h => Bool.false_ne_true h.1) hEven ?_
    have hMark : (name.chars ++ ['>'] ++ source items).head? ≠ some '!' := by
      obtain ⟨c, cs, hName⟩ := List.exists_cons_of_ne_nil name.ne_nil
      intro hHead
      have hFirst : c = '!' := by simpa [hName] using hHead
      exact absurd (name.isAlpha c (by simp [hName])) (by rw [hFirst]; decide)
    have hNext : Reached text ((name.chars ++ ['>']).reverse ++ '<' :: before)
        (offset + '<'.utf8Size + byteLength (name.chars ++ ['>'])) (source items)
        (line + (Item.opening name).chars.count '\n') := by
      simpa [Item.chars, Nat.add_assoc] using hPassed
    rw [Item.chars, List.cons_append, outlineFrom_angle offset hMark,
      Scan.outlineFrom_plain e _ (isPlainChar_name name)]
    exact ((hCode _ _ _ _ _ hCount hNext).code _).plain ['<']
  | closing name =>
    -- the bracket is code, and the slash after it opens the literal
    refine .cons_kept (fun h => Bool.false_ne_true h.1) hEven ?_
    have hOdd : (count + 1) % 2 = 1 := by omega
    have hOpens : Reached text ('<' :: before) (offset + '<'.utf8Size)
        ('/' :: (name.chars ++ ['>'] ++ source items)) line := hReached.pass ['<']
    have hSame : line + (Item.closing name).chars.count '\n' = line := by
      have hNone := count_of_isInside (isInside_name name)
      simpa [Item.chars] using hNone
    have hOpened := hLiteral _ _ (count + 1) _ _ (name.chars ++ ['>']) hOdd (.name name) hOpens
    rw [Item.chars, List.cons_append, List.cons_append, outlineFrom_angle offset (by simp)]
    rw [← hSame] at hOpened
    exact hOpened.plain ['<']
  | prose prose =>
    refine .cons_kept (fun h => Bool.false_ne_true h.1) hEven ?_
    -- a line end sets the count to zero, which is even too
    have hNext : (Item.prose prose).closings count % 2 = 0 := by
      rw [Item.closings]
      split
      · rfl
      · exact hCount
    rw [Item.chars, Scan.outlineFrom_plain e offset (isPlainChar_prose prose)]
    exact (hCode _ _ _ _ _ hNext hPassed).code prose.chars
  | comment remark =>
    have hComment := @Scan.outlineFrom_comment e o before offset .html remark.chars (source items)
      (splitAround?_remark remark (source items))
    dsimp only at hComment
    rw [hDrops] at hComment
    have hChars : (Item.comment remark).chars = Comment.Style.html.opening ++
        (remark.chars ++ Comment.Style.html.terminator) := rfl
    rw [← hChars] at hComment
    rw [hComment]
    exact .cons_dropped rfl hCount (hCode _ _ _ _ _ hCount hPassed)

/-- A comment is left where a regular expression is read. -/
theorem kept_of_odd {item : Item} {count : Nat} (hCount : count % 2 = 1) :
    ¬ (item.isComment ∧ count % 2 = 0) := by
  rintro ⟨-, hEven⟩
  omega

/-- The literal goes up to the first line end of a text. -/
theorem readInLiteral_line {prose : Prose} {items : List Item} (hEnds : '\n' ∈ prose.chars)
    (hCode : ReadInCode e o items) : ReadInLiteral e o (.prose prose :: items) := by
  intro text line count before offset inner hCount hInner hReached
  obtain ⟨first, more, hProse, hNot⟩ := List.eq_append_cons_of_mem hEnds
  -- up to there the text can stand in the literal, and after it code is read again
  have hRest : IsInner (inner ++ first) := by
    refine hInner.append fun c hc => ?_
    rcases prose.allowed c (by simp [hProse, hc]) with hLetter | rfl | rfl
    · exact isInside_of_isAlpha hLetter
    · decide
    · exact absurd hc hNot
  have hAfter : ∀ c ∈ '\n' :: more, Scan.isPlainChar c = true := by
    intro c hc
    exact isPlainChar_prose prose c (by rw [hProse]; exact List.mem_append_right _ hc)
  have hPieces : inner ++ source (.prose prose :: items) =
      (inner ++ first) ++ ('\n' :: more ++ source items) := by
    simp [source_cons, Item.chars, hProse]
  rw [hPieces] at hReached ⊢
  -- the lines that end are those that end in the text
  have hLines : ('/' :: (inner ++ first)).count '\n' + ('\n' :: more).count '\n' =
      prose.chars.count '\n' := by
    have hNone := count_of_isInside hRest.isInside
    have hFirst : first.count '\n' = 0 := List.count_eq_zero.mpr hNot
    rw [hProse, List.count_append, hFirst, List.count_cons_of_ne (by decide), hNone]
  have hNext : Reached text (('\n' :: more).reverse ++ (('/' :: (inner ++ first)).reverse ++
      '<' :: before)) (offset + byteLength ('/' :: (inner ++ first)) + byteLength ('\n' :: more))
      (source items) (line + prose.chars.count '\n') := by
    rw [← hLines, ← Nat.add_assoc]
    exact (hReached.pass ('/' :: (inner ++ first))).pass _
  rw [Scan.outlineFrom_broken e offset hRest.isBodyChar (.inr rfl) (hRest.opensComment _)
    (opensAfter_angle ..), Scan.outlineFrom_plain e _ hAfter]
  refine .cons_broken (by simpa [Item.endsLine] using hEnds) hCount ?_ hReached.line_locate
    ((hCode _ _ _ _ _ rfl hNext).code ('\n' :: more))
  simp [Item.chars, hProse]

/-- The literal ends at the slash of a closing tag. -/
theorem readInLiteral_closing {name : Name} {items : List Item} (hCode : ReadInCode e o items) :
    ReadInLiteral e o (.closing name :: items) := by
  intro text line count before offset inner hCount hInner hReached
  have hAngle : IsInner (inner ++ ['<']) := by
    refine hInner.append fun c hc => ?_
    obtain rfl := List.mem_singleton.mp hc
    decide
  have hPieces : '/' :: (inner ++ source (.closing name :: items)) =
      '/' :: ((inner ++ ['<']) ++ ['/']) ++ (name.chars ++ ['>'] ++ source items) := by
    simp [source_cons, Item.chars]
  have hFront : '/' :: inner ++ (Item.closing name).chars =
      '/' :: ((inner ++ ['<']) ++ ['/']) ++ (name.chars ++ ['>']) := by
    simp [Item.chars]
  rw [hPieces] at hReached ⊢
  -- no line ends in the literal, nor in the tag that closes it
  have hLines : ('/' :: ((inner ++ ['<']) ++ ['/'])).count '\n' +
      (name.chars ++ ['>']).count '\n' = (Item.closing name).chars.count '\n' := by
    have hNone := count_of_isInside hInner.isInside
    simp [Item.chars, hNone]
  have hNext := (hReached.pass ('/' :: ((inner ++ ['<']) ++ ['/']))).pass _
  rw [Nat.add_assoc line, hLines] at hNext
  -- the letters of the tag are flags or code, whichever they are taken for
  have hEven : (count + 1) % 2 = 0 := by omega
  rw [Scan.outlineFrom_closed e offset
    (RegexLiteral.body_of_isBodyChar hAngle.isBodyChar) (hAngle.opensComment _)
    (opensAfter_angle ..), Scan.outlineFrom_plain e _ (isPlainChar_name name)]
  refine .cons_kept (kept_of_odd hCount) (fun h => absurd h Bool.false_ne_true) ?_
  rw [hFront]
  exact ((hCode _ _ (count + 1) _ _ hEven hNext).code _).plain _

/-- Any other item is part of the literal. -/
theorem readInLiteral_other {item : Item} {items : List Item} (hLine : item.endsLine = false)
    (hClosing : ∀ name, item ≠ .closing name) (hLiteral : ReadInLiteral e o items) :
    ReadInLiteral e o (item :: items) := by
  intro text line count before offset inner hCount hInner hReached
  have hSame : item.closings count = count := by
    cases item with
    | opening | comment => rfl
    | closing name => exact absurd rfl (hClosing name)
    | prose => exact if_neg (by simp [hLine])
  have hInside := isInside_chars hLine hClosing
  rw [source_cons, ← List.append_assoc] at hReached ⊢
  refine .cons_kept (kept_of_odd hCount) (by simp [hLine]) ?_
  rw [hSame, count_of_isInside hInside, Nat.add_zero]
  exact hLiteral _ _ count _ _ (inner ++ item.chars) hCount (hInner.append hInside) hReached

/-- Where a regular expression is read, the next closing tag closes it, and a line end breaks
it off. -/
theorem readInLiteral_cons {item : Item} {items : List Item} (hCode : ReadInCode e o items)
    (hLiteral : ReadInLiteral e o items) : ReadInLiteral e o (item :: items) := by
  cases item with
  | opening => exact readInLiteral_other rfl (by simp) hLiteral
  | closing => exact readInLiteral_closing hCode
  | prose text =>
    by_cases hLine : '\n' ∈ text.chars
    · exact readInLiteral_line hLine hCode
    · exact readInLiteral_other (by simpa [Item.endsLine] using hLine) (by simp) hLiteral
  | comment => exact readInLiteral_other rfl (by simp) hLiteral

/-- **What comes of a text.** Comments are dropped where code is read, and each line in which
a literal is left open is found. -/
theorem outcome_source (hDrops : ∀ text, e.keeps text = false) (items : List Item) :
    ReadInCode e o items ∧ ReadInLiteral e o items := by
  induction items with
  | nil =>
    constructor
    · intro text line count before offset hCount hReached
      have hNone : Scan.outlineFrom e o before offset (source []) = .plain [] :=
        Scan.outlineFrom_nil e offset
      rw [hNone]
      exact ⟨rfl, rfl, [], rfl, by simp [oddLineNumbers, hCount]⟩
    · intro text line count before offset inner hCount hInner hReached
      have hEnd : source [] = [] := rfl
      rw [hEnd, Scan.outlineFrom_broken e offset hInner.isBodyChar (.inl rfl)
        (hInner.opensComment []) (opensAfter_angle ..), Scan.outlineFrom_nil]
      exact .nil_broken hCount hReached.line_locate
  | cons item items ih =>
    obtain ⟨hCode, hLiteral⟩ := ih
    exact ⟨readInCode_cons hDrops hCode hLiteral, readInLiteral_cons hCode hLiteral⟩

end Read

end Markup

/-! ## Removers that keep nothing -/

/-- The usual settings, with the built-in rules switched off. -/
def Config.keepNothing : Config where
  categories :=
    { framework := false, tooling := false, documentation := false, development := false }

/-- An engine whose rules are all switched off keeps nothing. -/
theorem Engine.keeps_of_disabled {e : Engine} (h : ∀ r ∈ e.rules, e.isEnabled r.category = false)
    (text : List Char) : e.keeps text = false := by
  rw [keeps, List.any_eq_false]
  intro r hr
  simp [selects, h r hr]

namespace Remover

/-- With these settings no comment is kept. -/
theorem keeps_of_keepNothing {r : Remover} (hMake : make .keepNothing = .ok r)
    (text : List Char) : r.engine.keeps text = false := by
  obtain ⟨hEngine, -, -⟩ := make_eq_ok_iff.mp hMake
  have hBuilt : engineFor .keepNothing =
      .ok ⟨Rule.Builtin.all, [.development, .documentation, .tooling, .framework]⟩ := rfl
  rw [← Except.ok.inj (hBuilt.symm.trans hEngine)]
  refine Engine.keeps_of_disabled ?_ text
  simp only [Rule.Builtin.all, List.forall_mem_cons]
  exact ⟨rfl, rfl, rfl, rfl, by simp⟩

open Markup in
/-- What is made of a text of items is told by its outline. -/
theorem exists_outcome {r : Remover} (hMake : make .keepNothing = .ok r) {items : List Item}
    (hWord : byteLength (source items) ≤ maxWord) (extension : String) :
    let result := (r.process (source items) extension).1
    ∃ outline, Outcome (source items) [] 1 0 items outline ∧
      (⟨result.content, result.removed, result.preserved⟩ : Stripped) = outline.left ∧
      result.errors =
        (outline.findings.foldl (Tokenizer.note · (source items))
          { r.tokenizer.clear with lines := {} }).log.errors := by
  obtain ⟨-, -, hTokenizer⟩ := make_eq_ok_iff.mp hMake
  have hFactor : 1 ≤ r.tokenizer.options.iterationFactor := by
    rw [hTokenizer]
    decide
  obtain ⟨hCode, -⟩ := outcome_source (o := r.tokenizer.options) (keeps_of_keepNothing hMake) items
  exact ⟨_, hCode _ _ 0 [] 0 rfl (.start _), process_outline hFactor hWord extension⟩

open Markup in
/-- **Comments between tags.** A text of tags, comments and prose goes through a remover that
keeps nothing. What is dropped are the comments with an even number of closing tags before
them on their line; everything else is returned as it was. Every line with an odd number of
closing tags is reported as a regular expression without its end, under its number, and nothing
else is. -/
theorem process_markup :
    ∃ r, make .keepNothing = .ok r ∧ ∀ items, byteLength (source items) ≤ maxWord →
      let result := (r.process (source items) "html").1
      result.content = source (left 0 items) ∧
      (left 0 items).length + result.removed = items.length ∧
      result.errors.length = oddLines 0 items ∧
      result.errors.map (·.location.map (·.line)) = (oddLineNumbers 1 0 items).map some ∧
      ∀ d ∈ result.errors, d.severity = .medium ∧ d.category = .regex := by
  obtain ⟨r, hMake⟩ : ∃ r, make .keepNothing = .ok r := ⟨_, rfl⟩
  refine ⟨r, hMake, fun items hWord => ?_⟩
  obtain ⟨outline, ⟨hContent, hRemoved, offsets, hFindings, hLines⟩, hLeft, hErrors⟩ :=
    exists_outcome hMake hWord "html"
  -- nothing is recorded but the literals that were found to be unfinished
  let t : Tokenizer := { r.tokenizer.clear with lines := {} }
  obtain ⟨new, hNew, hDescribed, hPlaces⟩ :=
    Tokenizer.errors_foldl_malformed (t := t) .regex offsets (.empty (source items))
  have hFresh : t.log.errors = [] := rfl
  rw [hFindings, hNew, hFresh, List.nil_append] at hErrors
  have hNumbers : new.map (·.location.map (·.line)) = (oddLineNumbers 1 0 items).map some := by
    have hSplit : new.map (·.location.map (·.line)) =
        (new.map (·.location)).map (·.map (·.line)) := by rw [List.map_map]; rfl
    rw [hSplit, hPlaces, ← hLines, List.map_map, List.map_map]
    rfl
  dsimp only
  refine ⟨?_, ?_, ?_, ?_, ?_⟩
  · exact (congrArg Stripped.content hLeft).trans hContent
  · rw [← hRemoved, ← hLeft]
  · have hLength := congrArg List.length hNumbers
    rw [List.length_map, List.length_map, length_oddLineNumbers] at hLength
    rw [hErrors, hLength]
  · rw [hErrors, hNumbers]
  · rw [hErrors]
    exact hDescribed

open Markup in
/-- A comment right after an opening tag is dropped. The one after the closing tag of the line
is taken for a part of a regular expression, and the line is reported. -/
theorem process_markup_paragraph :
    let name : Name := ⟨['p'], by simp, by simp⟩
    let remark : Remark := ⟨['x', ' ', 'y'], by simp⟩
    let items : List Item := [.opening name, .comment remark, .closing name, .comment remark]
    byteLength (source items) ≤ maxWord ∧
    ∃ r, make .keepNothing = .ok r ∧
      let result := (r.process (source items) "html").1
      result.content = "<p></p><!--x y-->".toList ∧ result.removed = 1 ∧
        result.errors.map (·.location.map (·.line)) = [some 1] := by
  intro name remark items
  have hWord : byteLength (source items) ≤ maxWord := by decide
  have hLeft : left 0 items = [.opening name, .closing name, .comment remark] := rfl
  obtain ⟨r, hMake, hItems⟩ := process_markup
  obtain ⟨hContent, hRemoved, -, hLines, -⟩ := hItems items hWord
  rw [hLeft] at hContent hRemoved
  refine ⟨hWord, r, hMake, hContent, ?_, hLines⟩
  have hLength : 3 + (r.process (source items) "html").1.removed = 4 := hRemoved
  omega

open Markup in
/-- Not every comment between tags is found: the one after a single closing tag is not. -/
theorem not_all_markup_comments_dropped :
    ¬ ∀ r, make .keepNothing = .ok r → ∀ items : List Item,
      let result := (r.process (source items) "html").1
      result.content = source (items.filter (!·.isComment)) ∧
        result.removed = items.countP (·.isComment) ∧ result.errors = [] := by
  intro h
  let name : Name := ⟨['a'], by simp, by simp⟩
  let remark : Remark := ⟨['b'], by simp⟩
  let items : List Item := [.closing name, .comment remark]
  have hWord : byteLength (source items) ≤ maxWord := by decide
  obtain ⟨r, hMake⟩ : ∃ r, make .keepNothing = .ok r := ⟨_, rfl⟩
  obtain ⟨outline, hOutcome, hLeft, -⟩ := exists_outcome hMake hWord "html"
  obtain ⟨-, hAll, -⟩ := h r hMake items
  -- the literal takes the comment, so that both items are left
  have hRemoved := hOutcome.removed
  rw [← hLeft, hAll] at hRemoved
  have hMissed : 2 + 1 = 2 := hRemoved
  omega

end Remover

end CommentSieve
