import CommentSieve.Diagnostic.Recovery
import CommentSieve.Proofs.Extents
import CommentSieve.Proofs.StringEnds

/-!
# Where reading goes on

After an unfinished construct recovery names a place where reading could go on. The place falls
between two characters and is further on, unless the text has ended. It is so for every offset
that recovery is asked about, one inside of a character or past the end as well: such an offset
is rounded down first, and from there on whole characters are passed over. Which ones is said
here of the text alone (`PassesOver`), by the first character of a kind, the first terminator, or
the first slash that no backslash escapes.

That slash can also be looked for byte by byte. A backslash then takes one byte along and not one
character, so that the walk may go on in the middle of a character. But every byte of a character
that has more than one is past all signs, and so the walk meets the same slash.

Main results:

* `isFloor_cut` — a text is cut at the last place between two characters that is not past the
  offset.
* `advances_plan` — whole characters are passed over, as many as the category says.
* `unescapedSlash?_eq`, `slashInBytes?_eq` — the slash that closes a regular expression, among
  characters and among bytes.
* `attempt_makes_progress` — recovery makes progress to the right place.
-/

namespace CommentSieve

open Text

/-! ## Rounding down -/

/-- The last place between two characters of a text that is not past an offset. -/
structure Text.IsFloor (content : List Char) (offset place : Nat) : Prop where
  boundary : IsBoundary content place
  le : place ≤ offset
  last : ∀ other, IsBoundary content other → other ≤ offset → other ≤ place

theorem Text.IsFloor.unique {content : List Char} {offset place other : Nat}
    (h : IsFloor content offset place) (hOther : IsFloor content offset other) : place = other :=
  Nat.le_antisymm (hOther.last place h.boundary h.le) (h.last other hOther.boundary hOther.le)

/-- A front of a text is as long as it can be if the next character does not fit. -/
theorem Text.isFloor_of_next {u v : List Char} {offset : Nat} (hFits : byteLength u ≤ offset)
    (hNext : ∀ c cs, v = c :: cs → offset < byteLength u + c.utf8Size) :
    IsFloor (u ++ v) offset (byteLength u) := by
  refine ⟨⟨u, v, rfl, rfl⟩, hFits, ?_⟩
  rintro other ⟨w, z, hContent, rfl⟩ hOther
  rcases List.append_eq_append_iff.mp hContent with ⟨x, rfl, hv⟩ | ⟨x, rfl, -⟩
  · cases x with
    | nil => rw [List.append_nil]
    | cons c x =>
      -- A longer front would have room for the next character.
      have hLonger := hNext c (x ++ z) hv
      rw [byteLength_append, byteLength_cons] at hOther
      omega
  · rw [byteLength_append]
    omega

/-- What is cut off fits into the bytes allowed, and one more character would not. -/
theorem Text.cut_go_fits (taken : List Char) (bytes : Nat) (cs : List Char) :
    byteLength (cut.go taken bytes cs).1 ≤ byteLength taken + bytes ∧
      ∀ d ds, (cut.go taken bytes cs).2 = d :: ds →
        byteLength taken + bytes < byteLength (cut.go taken bytes cs).1 + d.utf8Size := by
  induction cs generalizing taken bytes with
  | nil =>
    refine ⟨?_, fun d ds hNone => nomatch hNone⟩
    rw [cut.go, byteLength_reverse]
    omega
  | cons c cs ih =>
    rw [cut.go]
    split
    · -- What the character takes from the room is what it adds to the front.
      rename_i hRoom
      have hSum : byteLength (c :: taken) + (bytes - c.utf8Size) = byteLength taken + bytes := by
        rw [byteLength_cons]
        omega
      have hMore := ih (c :: taken) (bytes - c.utf8Size)
      rwa [hSum] at hMore
    · rename_i hFull
      constructor
      · rw [byteLength_reverse]
        omega
      · intro d ds hRest
        obtain ⟨rfl, -⟩ := List.cons.inj hRest
        rw [byteLength_reverse]
        omega

/-- A text is cut at the last place that is not past the offset, or at its end. -/
theorem Text.isFloor_cut (content : List Char) (position : Nat) :
    IsFloor content (min position (byteLength content)) (byteLength (cut content position).1) := by
  obtain ⟨hFits, hNext⟩ := cut_go_fits [] position content
  rw [byteLength_nil, Nat.zero_add] at hFits hNext
  have hPieces := cut_append content position
  have hTotal := congrArg byteLength hPieces
  rw [byteLength_append] at hTotal
  have hFloor : IsFloor ((cut content position).1 ++ (cut content position).2)
      (min position (byteLength content)) (byteLength (cut content position).1) := by
    refine isFloor_of_next (Nat.le_min.mpr ⟨hFits, by omega⟩) ?_
    intro c cs hRest
    exact Nat.lt_of_le_of_lt (Nat.min_le_left ..) (hNext c cs hRest)
  rwa [hPieces] at hFloor

/-! ## Characters of a kind -/

/-- A text is split before its first character of a kind. -/
theorem Text.eq_append_of_splitBefore? {kind : Char → Bool} {text skipped found : List Char}
    (h : splitBefore? kind text = some (skipped, found)) :
    ∃ c rest, found = c :: rest ∧ text = skipped ++ c :: rest ∧ kind c = true ∧
      ∀ d ∈ skipped, kind d = false := by
  unfold splitBefore? at h
  split at h
  · cases h
  · rename_i hFound
    obtain ⟨rfl, rfl⟩ := Prod.mk.inj (Option.some.inj h)
    obtain ⟨c, rest, hRest⟩ := List.exists_cons_of_ne_nil (l := text.dropWhile (! kind ·)) hFound
    have hKind := List.head_dropWhile_not (! kind ·) hFound
    refine ⟨c, rest, hRest, ?_, ?_, ?_⟩
    · rw [← hRest, List.takeWhile_append_dropWhile]
    · simpa [hRest] using hKind
    · intro d hd
      simpa using List.mem_takeWhile_imp hd

/-- Where it cannot be split there is no such character. -/
theorem Text.splitBefore?_eq_none {kind : Char → Bool} {text : List Char}
    (h : splitBefore? kind text = none) : ∀ c ∈ text, kind c = false := by
  unfold splitBefore? at h
  split at h
  · rename_i hNone
    simpa [List.dropWhile_eq_nil_iff] using hNone
  · cases h

namespace Recovery

/-- A quote that opens a string. -/
def opensString (c : Char) : Bool := c == '"' || c == '\''

/-- What is passed over up to the first character of a kind, or to the end if there is none. The
first character does not count, it is passed over whatever it is. -/
structure UpTo (kind : Char → Bool) (passed rest : List Char) : Prop where
  skipped : ∀ c ∈ passed.tail, kind c = false
  stops : ∀ c cs, rest = c :: cs → kind c = true

/-- What is passed over through the first `last` after the first character. -/
def Through (last : Char) (passed : List Char) : Prop :=
  ∃ first skipped, passed = first :: (skipped ++ [last]) ∧ last ∉ skipped

/-- What is passed over of a text for a problem of a category, and what is left. -/
def PassesOver (category : Diagnostic.Category) (passed rest : List Char) : Prop :=
  match category with
  | .stringHandling =>
    -- Only a string with its opening quote can be closed.
    (∃ quote, opensString quote = true ∧ passed.head? = some quote ∧ Through quote passed) ∨
      (∀ quote body, passed ++ rest = quote :: body → opensString quote = true → quote ∉ body) ∧
        UpTo (· == '\n') passed rest
  | .templateLiteral =>
    Through '`' passed ∨ '`' ∉ (passed ++ rest).tail ∧ UpTo opensString passed rest
  | .regex =>
    (∃ first skipped, passed = first :: (skipped ++ ['/']) ∧
      Literal.firstUnescaped? '/' (skipped ++ '/' :: rest) = some skipped.length) ∨
      Literal.firstUnescaped? '/' (passed ++ rest).tail = none ∧ UpTo endsRegex passed rest
  | .commentDetection =>
    Comment.Extent passed rest ∨
      (¬ Comment.lineOpening <+: passed ++ rest ∧
        ∀ style : Comment.Style, ¬ style.opening <+: passed ++ rest) ∧ rest = []
  | .parsing | .tokenization | .preservation | .fileProcessing =>
    passed = (passed ++ rest).take 1

/-- A number of bytes that whole characters at the front of a text have, at least one of them
unless there is none. -/
def Advances (Passed : List Char → List Char → Prop) (text : List Char) (advance : Nat) : Prop :=
  ∃ passed rest, text = passed ++ rest ∧ byteLength passed = advance ∧
    (passed = [] → rest = []) ∧ Passed passed rest

variable {text : List Char}

/-- The bytes up to the first character of a kind, or all. -/
def lengthUpTo (kind : Char → Bool) (text : List Char) : Nat :=
  match splitBefore? kind (text.drop 1) with
  | some (skipped, _) => firstSize text + byteLength skipped
  | none => byteLength text

/-- The rules for strings, templates and regular expressions end alike. -/
theorem advance_upTo (kind : Char → Bool) (text : List Char) (stopped atEnd : Strategy) :
    (match splitBefore? kind (text.drop 1) with
      | some (skipped, _) => (⟨firstSize text + byteLength skipped, stopped⟩ : Plan)
      | none => ⟨byteLength text, atEnd⟩).advance = lengthUpTo kind text := by
  rw [lengthUpTo]
  cases splitBefore? kind (text.drop 1) with
  | some pieces => rfl
  | none => rfl

/-- Without a further sign all of the text is passed over. -/
theorem upTo_all {kind : Char → Bool} (h : splitBefore? kind (text.drop 1) = none) :
    UpTo kind text [] := by
  refine ⟨?_, ?_⟩
  · rw [← List.drop_one]
    exact splitBefore?_eq_none h
  · intro c cs hNone
    cases hNone

/-- The length up to a sign leads right before it. -/
theorem advances_upTo (kind : Char → Bool) (text : List Char) :
    Advances (UpTo kind) text (lengthUpTo kind text) := by
  rw [lengthUpTo]
  cases hSplit : splitBefore? kind (text.drop 1) with
  | none => exact ⟨text, [], (List.append_nil text).symm, rfl, fun _ => rfl, upTo_all hSplit⟩
  | some pieces =>
    obtain ⟨skipped, found⟩ := pieces
    obtain ⟨c, rest, -, hBody, hKind, hSkipped⟩ := eq_append_of_splitBefore? hSplit
    cases text with
    | nil => cases hSplit
    | cons first body =>
      obtain rfl : body = skipped ++ c :: rest := hBody
      have hMoves : first :: skipped = [] → c :: rest = [] := fun hNone => by cases hNone
      refine ⟨first :: skipped, c :: rest, rfl, rfl, hMoves, hSkipped, ?_⟩
      intro d ds hRest
      rw [← (List.cons.inj hRest).1]
      exact hKind

/-- The length through a sign leads right after it. -/
theorem advances_through (text : List Char) {last : Char} {skipped found : List Char}
    (h : splitBefore? (· == last) (text.drop 1) = some (skipped, found)) :
    Advances (fun passed _ => Through last passed ∧ passed.head? = text.head?) text
      (firstSize text + byteLength skipped + last.utf8Size) := by
  obtain ⟨c, rest, -, hBody, hLast, hSkipped⟩ := eq_append_of_splitBefore? h
  obtain rfl : c = last := eq_of_beq hLast
  cases text with
  | nil => cases h
  | cons first body =>
    obtain rfl : body = skipped ++ c :: rest := hBody
    have hNone : c ∉ skipped := by
      intro hMem
      have hOther := hSkipped c hMem
      simp at hOther
    have hMoves : first :: (skipped ++ [c]) = [] → rest = [] := fun hNone => by cases hNone
    refine ⟨first :: (skipped ++ [c]), rest, ?_, ?_, hMoves, ⟨first, skipped, rfl, hNone⟩, rfl⟩
    · rw [List.cons_append, List.append_assoc]
      rfl
    · rw [byteLength_cons, byteLength_append, firstSize, byteLength_cons, byteLength_nil]
      omega

/-- What holds of where an advance leads can be weakened. -/
theorem Advances.imp {P Q : List Char → List Char → Prop} {advance : Nat}
    (h : Advances P text advance)
    (hImp : ∀ passed rest, text = passed ++ rest → P passed rest → Q passed rest) :
    Advances Q text advance := by
  obtain ⟨passed, rest, hText, hLength, hMoves, hPassed⟩ := h
  exact ⟨passed, rest, hText, hLength, hMoves, hImp passed rest hText hPassed⟩

/-! ## Strings and templates -/

theorem opensString_iff {c : Char} : opensString c = true ↔ c = '"' ∨ c = '\'' := by
  rw [opensString, Bool.or_eq_true, beq_iff_eq, beq_iff_eq]

/-- Where a text cannot be split before a sign, the sign is not in it. -/
theorem not_mem_of_splitBefore? {c : Char} {cs : List Char}
    (h : splitBefore? (· == c) cs = none) : c ∉ cs := by
  intro hMem
  have hOther := splitBefore?_eq_none h c hMem
  rw [beq_self_eq_true] at hOther
  cases hOther

/-- The plan for strings passes over what it says. -/
theorem advances_planString (text : List Char) :
    Advances (PassesOver .stringHandling) text (planString text).advance := by
  -- Where nothing can be closed, the line ends the string.
  have hOpen
      (hNone : ∀ quote body, text = quote :: body → opensString quote = true → quote ∉ body)
      (hPlan : (planString text).advance = lengthUpTo (· == '\n') text) :
      Advances (PassesOver .stringHandling) text (planString text).advance := by
    rw [hPlan]
    refine (advances_upTo (· == '\n') text).imp ?_
    rintro passed rest rfl hUpTo
    exact .inr ⟨hNone, hUpTo⟩
  cases text with
  | nil =>
    refine hOpen ?_ rfl
    intro quote body hText
    cases hText
  | cons first body =>
    by_cases hFirst : first = '"' ∨ first = '\''
    · cases hClose : splitBefore? (· == first) body with
      | some pieces =>
        have hPlan : (planString (first :: body)).advance =
            firstSize (first :: body) + byteLength pieces.1 + first.utf8Size := by
          simp only [planString, List.head?_cons, List.drop_succ_cons, List.drop_zero, hFirst,
            hClose, if_true, Option.map_some]
        rw [hPlan]
        refine (advances_through (first :: body) hClose).imp ?_
        rintro passed rest - ⟨hThrough, hHead⟩
        exact .inl ⟨first, opensString_iff.mpr hFirst, hHead, hThrough⟩
      | none =>
        refine hOpen ?_ ?_
        · rintro quote cs hText -
          obtain ⟨rfl, rfl⟩ := List.cons.inj hText
          exact not_mem_of_splitBefore? hClose
        · simp only [planString, List.head?_cons, List.drop_succ_cons, List.drop_zero, hFirst,
            hClose, if_true, Option.map_none]
          exact advance_upTo _ (first :: body) _ _
    · refine hOpen ?_ ?_
      · rintro quote cs hText hQuote
        obtain ⟨rfl, rfl⟩ := List.cons.inj hText
        exact absurd (opensString_iff.mp hQuote) hFirst
      · simp only [planString, List.head?_cons, List.drop_succ_cons, List.drop_zero, hFirst,
          if_false]
        exact advance_upTo _ (first :: body) _ _

/-- The plan for templates passes over what it says. -/
theorem advances_planTemplate (text : List Char) :
    Advances (PassesOver .templateLiteral) text (planTemplate text).advance := by
  cases hClose : splitBefore? (· == '`') (text.drop 1) with
  | some pieces =>
    obtain ⟨skipped, found⟩ := pieces
    have hPlan : (planTemplate text).advance =
        firstSize text + byteLength skipped + ('`').utf8Size := by
      simp only [planTemplate, hClose]
      rfl
    rw [hPlan]
    refine (advances_through text hClose).imp ?_
    rintro passed rest - ⟨hThrough, -⟩
    exact .inl hThrough
  | none =>
    -- Without a back-tick to close it, the next quote is where to go on.
    have hPlan : (planTemplate text).advance = lengthUpTo opensString text := by
      simp only [planTemplate, hClose]
      exact advance_upTo opensString text _ _
    rw [hPlan]
    refine (advances_upTo opensString text).imp ?_
    rintro passed rest rfl hUpTo
    refine .inr ⟨?_, hUpTo⟩
    rw [← List.drop_one]
    exact not_mem_of_splitBefore? hClose

/-! ## Regular expressions -/

/-- What is left of the cases of `unescapedSlash?` after those of a backslash. -/
theorem ne_backslash {c : Char} {cs : List Char} (hLone : c = '\\' → cs = [] → False)
    (hEscape : ∀ d ds, c = '\\' → cs = d :: ds → False) : c ≠ '\\' := by
  rintro rfl
  cases cs with
  | nil => exact hLone rfl rfl
  | cons d ds => exact hEscape d ds rfl rfl

/-- The slash that ends a regular expression is the first one that is not escaped. -/
theorem unescapedSlash?_eq (seen : Nat) (cs : List Char) :
    unescapedSlash? seen cs = (Literal.firstUnescaped? '/' cs).map fun index =>
      seen + byteLength (cs.take (index + 1)) := by
  have hSlash : ('/' : Char) ≠ '\\' := by decide
  -- An escape moves the index by two, any other character by one, and both count their bytes.
  fun_induction unescapedSlash? seen cs with
  | case1 => rfl
  | case2 => rw [Literal.firstUnescaped?_lone hSlash, Option.map_none]
  | case3 seen c cs ih =>
    rw [ih, Literal.firstUnescaped?_escape hSlash, Option.map_map]
    congr 1
    funext index
    have hTake : ('\\' :: c :: cs).take (2 + index + 1) = '\\' :: c :: cs.take (index + 1) := by
      rw [show 2 + index + 1 = index + 1 + 1 + 1 by omega]
      rfl
    have hSize : ('\\').utf8Size = 1 := rfl
    rw [Function.comp, hTake, byteLength_cons, byteLength_cons, hSize]
    omega
  | case4 seen cs =>
    rw [Literal.firstUnescaped?_self]
    rfl
  | case5 seen c cs hLone hEscape hOther ih =>
    have hPlain : c ≠ '\\' := ne_backslash hLone hEscape
    rw [ih, Literal.firstUnescaped?_plain hPlain hOther, Option.map_map]
    congr 1
    funext index
    have hTake : (c :: cs).take (1 + index + 1) = c :: cs.take (index + 1) := by
      rw [show 1 + index + 1 = index + 1 + 1 by omega]
      rfl
    rw [Function.comp, hTake, byteLength_cons]
    omega

/-- A sign that was found stands at its index. -/
theorem eq_append_of_firstUnescaped? {c : Char} {cs : List Char} {index : Nat}
    (h : Literal.firstUnescaped? c cs = some index) :
    ∃ rest, cs = cs.take index ++ c :: rest ∧ (cs.take index).length = index := by
  have hStands := List.find?_some h
  rw [Literal.stands, Bool.and_eq_true, beq_iff_eq] at hStands
  obtain ⟨hBound, hChar⟩ := List.getElem?_eq_some_iff.mp hStands.1
  refine ⟨cs.drop (index + 1), ?_, List.length_take_of_le (Nat.le_of_lt hBound)⟩
  rw [← hChar, List.getElem_cons_drop, List.take_append_drop]

/-- The plan for regular expressions passes over what it says. -/
theorem advances_planRegex (text : List Char) :
    Advances (PassesOver .regex) text (planRegex text).advance := by
  cases hSlash : Literal.firstUnescaped? '/' (text.drop 1) with
  | some index =>
    -- The slash splits what comes after the first character.
    obtain ⟨rest, hBody, hLength⟩ := eq_append_of_firstUnescaped? hSlash
    have hPlan : (planRegex text).advance =
        firstSize text + byteLength ((text.drop 1).take (index + 1)) := by
      simp only [planRegex, unescapedSlash?_eq, hSlash, Option.map_some]
    rw [hPlan]
    cases text with
    | nil => cases hSlash
    | cons first body =>
      generalize hSkipped : ((first :: body).drop 1).take index = skipped at hBody hLength
      obtain rfl : body = skipped ++ '/' :: rest := hBody
      have hTake : (skipped ++ '/' :: rest).take (index + 1) = skipped ++ ['/'] := by
        rw [← hLength, List.take_length_add_append]
        rfl
      have hMoves : first :: (skipped ++ ['/']) = [] → rest = [] := fun hNone => by cases hNone
      refine ⟨first :: (skipped ++ ['/']), rest, ?_, ?_, hMoves, .inl ⟨first, skipped, rfl, ?_⟩⟩
      · rw [List.cons_append, List.append_assoc]
        rfl
      · rw [List.drop_succ_cons, List.drop_zero, hTake]
        rfl
      · rw [hLength]
        exact hSlash
  | none =>
    have hPlan : (planRegex text).advance = lengthUpTo endsRegex text := by
      simp only [planRegex, unescapedSlash?_eq, hSlash, Option.map_none]
      exact advance_upTo endsRegex text _ _
    rw [hPlan]
    refine (advances_upTo endsRegex text).imp ?_
    rintro passed rest rfl hUpTo
    refine .inr ⟨?_, hUpTo⟩
    rw [← List.drop_one]
    exact hSlash

/-! ## Comments -/

/-- The rule for a text that starts with an opening. -/
theorem advance_planComment {shape : CommentShape} {body : List Char}
    (hShape : commentShapes.find? (fun shape => startsWith shape.opener.toList text) = some shape)
    (hText : text = shape.opener.toList ++ body) :
    (planComment text).advance =
      match splitAround? shape.terminator.toList body with
      | none => byteLength text
      | some (inner, _) =>
        byteLength (shape.opener.toList ++ inner) +
          if shape.includesTerminator then byteLength shape.terminator.toList else 0 := by
  have hBody : text.drop shape.opener.length = body := by
    rw [hText, ← String.length_toList, List.drop_left]
  simp only [planComment, hShape, hBody]
  cases splitAround? shape.terminator.toList body with
  | none => rfl
  | some pieces =>
    simp only [byteLength_append]
    split <;> rfl

/-- A comment with a terminator is passed over with it. -/
theorem advances_planComment_closed (style : Comment.Style) {shape : CommentShape}
    {body : List Char} (hOpener : shape.opener.toList = style.opening)
    (hTerminator : shape.terminator.toList = style.terminator)
    (hIncludes : shape.includesTerminator = true)
    (hShape : commentShapes.find? (fun shape => startsWith shape.opener.toList text) = some shape)
    (hText : text = style.opening ++ body) :
    Advances (PassesOver .commentDetection) text (planComment text).advance := by
  rw [advance_planComment hShape (hOpener ▸ hText), hOpener, hTerminator, if_pos hIncludes]
  have hOpens : style.opening ≠ [] := by cases style <;> decide
  cases hSplit : splitAround? style.terminator body with
  | none =>
    -- An unclosed comment takes all of the text.
    refine ⟨text, [], (List.append_nil text).symm, rfl, fun _ => rfl, .inl ?_⟩
    rw [hText]
    exact .unclosed style (not_infix_of_splitAround? hSplit)
  | some pieces =>
    obtain ⟨inner, rest⟩ := pieces
    obtain ⟨rfl, hFirst⟩ := splitAround?_eq_some_iff.mp hSplit
    refine ⟨style.opening ++ (inner ++ style.terminator), rest, ?_, ?_, ?_,
      .inl (.closed style hFirst)⟩
    · rw [hText, List.append_assoc, List.append_assoc]
    · rw [← List.append_assoc, byteLength_append]
    · intro hNone
      exact absurd (List.append_eq_nil_iff.mp hNone).1 hOpens

/-- A line comment is passed over up to the line end. -/
theorem advances_planComment_line {shape : CommentShape} {body : List Char}
    (hOpener : shape.opener.toList = Comment.lineOpening)
    (hTerminator : shape.terminator.toList = ['\n']) (hIncludes : shape.includesTerminator = false)
    (hShape : commentShapes.find? (fun shape => startsWith shape.opener.toList text) = some shape)
    (hText : text = Comment.lineOpening ++ body) :
    Advances (PassesOver .commentDetection) text (planComment text).advance := by
  rw [advance_planComment hShape (hOpener ▸ hText), hOpener, hTerminator, hIncludes]
  cases hSplit : splitAround? ['\n'] body with
  | none =>
    refine ⟨text, [], (List.append_nil text).symm, rfl, fun _ => rfl, .inl ?_⟩
    rw [hText]
    refine .line ?_ (.inl rfl)
    intro hMem
    obtain ⟨u, v, hLine⟩ := List.append_of_mem hMem
    exact not_infix_of_splitAround? hSplit ⟨u, v, by rw [hLine, List.append_assoc]; rfl⟩
  | some pieces =>
    obtain ⟨inner, rest⟩ := pieces
    obtain ⟨rfl, hFirst⟩ := splitAround?_eq_some_iff.mp hSplit
    refine ⟨Comment.lineOpening ++ inner, '\n' :: rest, ?_, rfl, ?_, .inl (.line ?_ (.inr rfl))⟩
    · rw [hText, List.append_assoc]
      rfl
    · intro hNone
      cases hNone
    · -- A line end in front of this one would have been found first.
      intro hMem
      obtain ⟨u, v, rfl⟩ := List.append_of_mem hMem
      have hLe := hFirst u (v ++ (['\n'] ++ rest)) (by simp)
      rw [List.length_append, List.length_cons] at hLe
      omega

/-- The plan for comments passes over what it says. -/
theorem advances_planComment (text : List Char) :
    Advances (PassesOver .commentDetection) text (planComment text).advance := by
  cases hShape : commentShapes.find? (fun shape => startsWith shape.opener.toList text) with
  | none =>
    -- No comment opens here, and everything is passed over.
    have hPlan : (planComment text).advance = byteLength text := by
      simp only [planComment, hShape]
    rw [hPlan]
    refine ⟨text, [], (List.append_nil text).symm, rfl, fun _ => rfl, .inr ⟨?_, rfl⟩⟩
    rw [List.append_nil]
    have hNone : ∀ shape ∈ commentShapes, ¬ shape.opener.toList <+: text := by
      intro shape hMem hStarts
      have hFound := startsWith_iff_prefix.mpr hStarts
      exact List.find?_eq_none.mp hShape shape hMem hFound
    refine ⟨hNone ⟨"//", "\n", false⟩ (by simp [commentShapes]), ?_⟩
    intro style
    cases style with
    | block => exact hNone ⟨"/*", "*/", true⟩ (by simp [commentShapes])
    | html => exact hNone ⟨"<!--", "-->", true⟩ (by simp [commentShapes])
  | some shape =>
    have hStarts := List.find?_some hShape
    obtain ⟨body, hText⟩ := startsWith_iff_prefix.mp hStarts
    have hMem := List.mem_of_find?_eq_some hShape
    simp only [commentShapes, List.mem_cons, List.not_mem_nil, or_false] at hMem
    rcases hMem with rfl | rfl | rfl
    · exact advances_planComment_closed .block rfl rfl rfl hShape hText.symm
    · exact advances_planComment_closed .html rfl rfl rfl hShape hText.symm
    · exact advances_planComment_line rfl rfl rfl hShape hText.symm

/-! ## The rule for each category -/

/-- **Whole characters are passed over, as many as the category says.** -/
theorem advances_plan (category : Diagnostic.Category) (text : List Char) :
    Advances (PassesOver category) text (plan category text).advance := by
  -- All other categories skip one character.
  have hSkip : Advances (fun passed rest => passed = (passed ++ rest).take 1) text
      (firstSize text) := by
    refine ⟨text.take 1, text.drop 1, (List.take_append_drop 1 text).symm, ?_, ?_, ?_⟩
    · cases text <;> rfl
    · intro hNone
      cases text with
      | nil => rfl
      | cons c cs => cases hNone
    · show text.take 1 = (text.take 1 ++ text.drop 1).take 1
      rw [List.take_append_drop]
  match category with
  | .stringHandling => exact advances_planString text
  | .templateLiteral => exact advances_planTemplate text
  | .regex => exact advances_planRegex text
  | .commentDetection => exact advances_planComment text
  | .parsing | .tokenization | .preservation | .fileProcessing => exact hSkip

/-! ## Looking for the slash among bytes -/

/-- The UTF-8 form of a text. -/
def bytes (cs : List Char) : List UInt8 := cs.flatMap String.utf8EncodeChar

/-- The number of bytes up to and including the first slash that is met when a backslash takes
the next byte along, whatever character that belongs to. -/
def slashInBytes? (seen : Nat) : List UInt8 → Option Nat
  | [] => none
  | [b] => if b = '/'.toUInt8 then some (seen + 1) else none
  | b :: next :: bs =>
    if b = '\\'.toUInt8 then slashInBytes? (seen + 2) bs
    else if b = '/'.toUInt8 then some (seen + 1)
    else slashInBytes? (seen + 1) (next :: bs)

/-- Every byte of a character that has several is past all signs. -/
theorem high_of_mem {c : Char} (h : c.utf8Size ≠ 1) {b : UInt8}
    (hb : b ∈ String.utf8EncodeChar c) : 128 ≤ b.toNat := by
  have hHigh : ∀ {n m k : Nat}, 0 < m → 128 ≤ k → m + k ≤ 256 →
      128 ≤ (UInt8.ofNat (n % m + k)).toNat := by
    intro n m k hm hLow hSum
    have hMod := Nat.mod_lt n hm
    rw [UInt8.toNat_ofNat', Nat.mod_eq_of_lt (by omega)]
    omega
  rw [← String.length_utf8EncodeChar] at h
  revert h hb
  fun_cases String.utf8EncodeChar c
  · intro h
    exact absurd rfl h
  -- The marks of the first byte and of those after it are from 128 on.
  all_goals
    intro _ hb
    simp only [List.mem_cons, List.not_mem_nil, or_false] at hb
    rcases hb with rfl | rfl | rfl | rfl
    all_goals exact hHigh (by decide) (by decide) (by decide)

/-- A byte that is neither a backslash nor a slash. -/
def IsPlainByte (b : UInt8) : Prop := b ≠ '\\'.toUInt8 ∧ b ≠ '/'.toUInt8

/-- A byte of a longer character is no slash and no backslash. -/
theorem isPlainByte_of_high {b : UInt8} (h : 128 ≤ b.toNat) : IsPlainByte b := by
  constructor
  · rintro rfl
    exact absurd h (by decide)
  · rintro rfl
    exact absurd h (by decide)

/-- A character of one byte is told by it. -/
theorem eq_of_toUInt8 {c d : Char} (hc : c.utf8Size = 1) (hd : d.utf8Size = 1)
    (h : c.toUInt8 = d.toUInt8) : c = d := by
  rw [Char.utf8Size_eq_one_iff, UInt32.le_iff_toNat_le] at hc hd
  have hBytes := congrArg UInt8.toNat h
  rw [← Char.toUInt8_val, ← Char.toUInt8_val, UInt32.toNat_toUInt8, UInt32.toNat_toUInt8] at hBytes
  have hSmall : (127 : UInt32).toNat = 127 := rfl
  apply Char.ext
  apply UInt32.toNat_inj.mp
  omega

/-- Only a slash and a backslash have bytes that mean something. -/
theorem isPlainByte_of_mem {c : Char} (hEscape : c ≠ '\\') (hSlash : c ≠ '/') :
    ∀ b ∈ String.utf8EncodeChar c, IsPlainByte b := by
  intro b hb
  -- Either the byte is the character, or it is past all signs.
  by_cases hSize : c.utf8Size = 1
  · rw [String.utf8EncodeChar_eq_singleton hSize, List.mem_singleton] at hb
    rw [hb]
    constructor
    · intro h
      exact hEscape (eq_of_toUInt8 hSize rfl h)
    · intro h
      exact hSlash (eq_of_toUInt8 hSize rfl h)
  · exact isPlainByte_of_high (high_of_mem hSize hb)

/-- After its first byte no character has a byte that looks like a sign. -/
theorem exists_utf8EncodeChar (c : Char) :
    ∃ first others, String.utf8EncodeChar c = first :: others ∧
      1 + others.length = c.utf8Size ∧ ∀ b ∈ others, IsPlainByte b := by
  have hLength := String.length_utf8EncodeChar c
  cases hBytes : String.utf8EncodeChar c with
  | nil =>
    rw [hBytes] at hLength
    exact absurd hLength.symm c.utf8Size_pos.ne'
  | cons first others =>
    rw [hBytes, List.length_cons] at hLength
    refine ⟨first, others, rfl, by omega, ?_⟩
    intro b hb
    have hSize : c.utf8Size ≠ 1 := by
      have hSome := List.length_pos_of_mem hb
      omega
    refine isPlainByte_of_high (high_of_mem hSize ?_)
    rw [hBytes]
    exact List.mem_cons_of_mem _ hb

/-- Plain bytes are walked over one by one. -/
theorem slashInBytes?_append {plain : List UInt8} (hPlain : ∀ b ∈ plain, IsPlainByte b)
    (seen : Nat) (bs : List UInt8) :
    slashInBytes? seen (plain ++ bs) = slashInBytes? (seen + plain.length) bs := by
  induction plain generalizing seen with
  | nil => rfl
  | cons b plain ih =>
    obtain ⟨hEscape, hSlash⟩ := hPlain b (List.mem_cons_self ..)
    have hStep : slashInBytes? seen (b :: (plain ++ bs)) =
        slashInBytes? (seen + 1) (plain ++ bs) := by
      cases plain ++ bs with
      | nil => simp only [slashInBytes?, if_neg hSlash]
      | cons next rest => rw [slashInBytes?, if_neg hEscape, if_neg hSlash]
    rw [List.cons_append, hStep, ih fun d hd => hPlain d (List.mem_cons_of_mem _ hd),
      List.length_cons]
    congr 1
    omega

/-- **The walk over bytes meets the same slash.** -/
theorem slashInBytes?_eq (seen : Nat) (cs : List Char) :
    slashInBytes? seen (bytes cs) = unescapedSlash? seen cs := by
  have hCons : ∀ c cs, bytes (c :: cs) = String.utf8EncodeChar c ++ bytes cs := by
    intro c cs
    rw [bytes, List.flatMap_cons, ← bytes]
  have hBackslash : String.utf8EncodeChar '\\' = ['\\'.toUInt8] := by decide
  have hSign : String.utf8EncodeChar '/' = ['/'.toUInt8] := by decide
  fun_induction unescapedSlash? seen cs with
  | case1 => rfl
  | case2 seen => rfl
  | case3 seen c cs ih =>
    -- The walk goes on after the first byte of the escaped character.
    obtain ⟨first, others, hBytes, hLength, hPlain⟩ := exists_utf8EncodeChar c
    rw [hCons, hCons, hBackslash, hBytes, List.cons_append, List.nil_append, List.cons_append,
      slashInBytes?, if_pos rfl, slashInBytes?_append hPlain, ← ih]
    congr 1
    omega
  | case4 seen cs =>
    rw [hCons, hSign, List.cons_append, List.nil_append]
    cases bytes cs with
    | nil => rfl
    | cons next bs => rfl
  | case5 seen c cs hLone hEscape hOther ih =>
    have hPlain : c ≠ '\\' := ne_backslash hLone hEscape
    rw [hCons, slashInBytes?_append (isPlainByte_of_mem hPlain hOther),
      String.length_utf8EncodeChar, ih]

/-! ## Recovery -/

/-- A place where reading can go on after a problem of a category that starts at `start`. -/
structure ResumesAt (category : Diagnostic.Category) (content : List Char)
    (start resume : Nat) : Prop where
  boundary : IsBoundary content resume
  start_le : start ≤ resume
  le_end : resume ≤ byteLength content
  progress : start < resume ∨ start = byteLength content
  /-- What is between the two is what the category says. -/
  passes : ∃ before passed rest, content = before ++ (passed ++ rest) ∧
    byteLength before = start ∧ byteLength (before ++ passed) = resume ∧
    PassesOver category passed rest

/-- An advance from an offset leads to where reading goes on. -/
theorem resumesAt_of_advances (before : List Char) {category : Diagnostic.Category}
    {advance : Nat} (h : Advances (PassesOver category) text advance) :
    ResumesAt category (before ++ text) (byteLength before) (byteLength before + advance) := by
  obtain ⟨passed, rest, rfl, rfl, hMoves, hPassed⟩ := h
  have hResume : byteLength (before ++ passed) = byteLength before + byteLength passed :=
    byteLength_append ..
  refine ⟨⟨before ++ passed, rest, (List.append_assoc ..).symm, hResume⟩, Nat.le_add_right .., ?_,
    ?_, before, passed, rest, rfl, rfl, hResume, hPassed⟩
  · rw [byteLength_append, byteLength_append]
    omega
  · -- Where nothing is passed over, nothing is left.
    rcases passed.eq_nil_or_concat with hNone | ⟨_, _, hSome⟩
    · right
      rw [hNone, hMoves hNone, List.append_nil, List.append_nil]
    · left
      have hPos : 0 < byteLength passed := byteLength_pos (by simp [hSome])
      omega

/-- **Recovery makes progress.** Whatever the text, the offset and the problem, recovery that is
not switched off goes on at a place between two characters. It is not before the place the
problem is taken to start at, which is the offset, rounded down if it is inside of a character or
past the end; it is after that place, unless that is the end; and what lies between is what the
category says. For a regular expression the slash that counts is also the one that a walk over
the bytes of a text meets, though it takes a single byte along with a backslash. -/
theorem attempt_makes_progress {log : Log} (hRecover : log.recover = true)
    (problem : Diagnostic) (content : List Char) (position : Nat) :
    (∃ start resume strategy,
      IsFloor content (min position (byteLength content)) start ∧
      attempt log problem content position = .resumed resume strategy ∧
      ResumesAt problem.category content start resume) ∧
    ∀ seen cs, slashInBytes? seen (bytes cs) = (Literal.firstUnescaped? '/' cs).map fun index =>
      seen + byteLength (cs.take (index + 1)) := by
  refine ⟨?_, ?_⟩
  · have hAttempt : attempt log problem content position =
        .resumed (byteLength (cut content position).1 +
            (plan problem.category (cut content position).2).advance)
          (plan problem.category (cut content position).2).strategy := if_pos hRecover
    refine ⟨_, _, _, isFloor_cut content position, hAttempt, ?_⟩
    have hResumes := resumesAt_of_advances (cut content position).1
      (advances_plan problem.category (cut content position).2)
    rwa [cut_append] at hResumes
  · intro seen cs
    rw [slashInBytes?_eq, unescapedSlash?_eq]

/-- An offset inside of a character, before a slash that is escaped, a character of two bytes that
is, and a slash that is not. -/
theorem attempt_makes_progress_regex :
    let content := ['x', 'é', '\\', '/', '\\', 'é', '/', ';']
    let problem : Diagnostic := { category := .regex, severity := .medium, message := "" }
    attempt { recover := true } problem content 2 = .resumed 9 .closeRegex ∧
    IsFloor content 2 1 ∧ ResumesAt .regex content 1 9 ∧
    slashInBytes? 3 (bytes ['\\', '/', '\\', 'é', '/', ';']) = some 9 := by
  intro content problem
  have hRecover : ({ recover := true } : Log).recover = true := rfl
  have hAttempt : attempt { recover := true } problem content 2 = .resumed 9 .closeRegex := by
    decide
  obtain ⟨⟨start, resume, strategy, hStart, hResumed, hResumes⟩, hBytes⟩ :=
    attempt_makes_progress hRecover problem content 2
  obtain ⟨rfl, -⟩ := Outcome.resumed.inj (hResumed.symm.trans hAttempt)
  have hOne : IsFloor content 2 1 := isFloor_cut content 2
  obtain rfl := hStart.unique hOne
  refine ⟨hAttempt, hOne, hResumes, ?_⟩
  rw [hBytes]
  decide

end Recovery

end CommentSieve
